/-!
# Double-precision numbers

A double-precision number is given by its sixty-four bits. Arithmetic is exact on integers and then
rounded once, to the nearest number of the format and to the even one of two nearest.
-/

namespace FilterQuery

/-- A binary format: its numbers are `m * 2 ^ e` with fewer than `precision` bits beyond the first
in `m`, and `e` from `least` to `greatest`. -/
structure BinaryFormat where
  precision : Nat
  least : Int
  greatest : Int

/-- Double precision. -/
def BinaryFormat.double : BinaryFormat := ⟨53, -1074, 971⟩

/-- Single precision. -/
def BinaryFormat.single : BinaryFormat := ⟨24, -149, 104⟩

/-- Two to an integer power as a fraction. -/
def powerOfTwo (exponent : Int) : Nat × Nat :=
  (Nat.pow 2 exponent.toNat, Nat.pow 2 (-exponent).toNat)

/-- A quotient rounded to the nearest whole number, and to the even one of two nearest. -/
def roundQuotient (numerator denominator : Nat) : Nat :=
  let quotient := numerator / denominator
  let doubled := 2 * (numerator % denominator)
  if denominator < doubled ∨ (denominator = doubled ∧ quotient % 2 = 1) then quotient + 1
  else quotient

namespace BinaryFormat

/-- The quotient in units of `2 ^ exponent`, as a fraction. -/
def scaled (numerator denominator : Nat) (exponent : Int) : Nat × Nat :=
  let (up, down) := powerOfTwo exponent
  (numerator * down, denominator * up)

/-- The exponent of the last bit that the format keeps of a positive quotient. -/
def lastExponent (format : BinaryFormat) (numerator denominator : Nat) : Int :=
  let estimate := (numerator.log2 : Int) - denominator.log2 - format.precision
  let (above, below) := scaled numerator denominator estimate
  let exact := if above / below < Nat.pow 2 format.precision then estimate else estimate + 1
  max exact format.least

/-- A positive quotient rounded to the format, as a mantissa and an exponent, unless it exceeds all
its numbers. -/
def round? (format : BinaryFormat) (numerator denominator : Nat) : Option (Nat × Int) :=
  let exponent := format.lastExponent numerator denominator
  let (above, below) := scaled numerator denominator exponent
  let mantissa := roundQuotient above below
  let (mantissa, exponent) :=
    if mantissa = Nat.pow 2 format.precision then (mantissa / 2, exponent + 1)
    else (mantissa, exponent)
  if exponent ≤ format.greatest then some (mantissa, exponent) else none

end BinaryFormat

/-- A double-precision number. -/
structure Binary64 where
  bits : UInt64
deriving DecidableEq, Repr

namespace Binary64

/-- Whether the sign bit is set. -/
def negative (x : Binary64) : Bool := x.bits.toNat / Nat.pow 2 63 == 1

/-- The exponent field. -/
def exponentField (x : Binary64) : Nat := x.bits.toNat / Nat.pow 2 52 % Nat.pow 2 11

/-- The fraction field. -/
def fractionField (x : Binary64) : Nat := x.bits.toNat % Nat.pow 2 52

/-- The number with the given sign and fields. -/
def ofFields (negative : Bool) (exponent fraction : Nat) : Binary64 :=
  ⟨UInt64.ofNat ((if negative then Nat.pow 2 63 else 0) + exponent * Nat.pow 2 52 + fraction)⟩

/-- The absolute value of a number: none, infinity, or a mantissa times a power of two. -/
inductive Magnitude where
  | notANumber
  | infinite
  | finite (mantissa : Nat) (exponent : Int)
deriving DecidableEq, Repr

/-- The absolute value that the fields of a number stand for. -/
def magnitude (x : Binary64) : Magnitude :=
  if x.exponentField = 2047 then
    if x.fractionField = 0 then .infinite else .notANumber
  else if x.exponentField = 0 then .finite x.fractionField (-1074)
  else .finite (Nat.pow 2 52 + x.fractionField) ((x.exponentField : Int) - 1075)

/-- The undefined number. -/
def nan : Binary64 := ⟨0x7ff8000000000001⟩

/-- Infinity with a sign. -/
def infinity (negative : Bool) : Binary64 := ofFields negative 2047 0

/-- The number with the given sign, mantissa and exponent, both within the format. -/
def ofMantissa (negative : Bool) (mantissa : Nat) (exponent : Int) : Binary64 :=
  if mantissa < Nat.pow 2 52 then ofFields negative 0 mantissa
  else ofFields negative (exponent + 1075).toNat (mantissa - Nat.pow 2 52)

/-- A quotient rounded to double precision; beyond the largest number it is infinity. -/
def ofQuotient (negative : Bool) (numerator denominator : Nat) : Binary64 :=
  if numerator = 0 then ofFields negative 0 0
  else
    match BinaryFormat.double.round? numerator denominator with
    | some (mantissa, exponent) => ofMantissa negative mantissa exponent
    | none => infinity negative

/-- An integer rounded to double precision. -/
def ofInt (n : Int) : Binary64 := ofQuotient (n < 0) n.natAbs 1

/-- The product with a positive fraction, rounded once. -/
def scale (x : Binary64) (numerator denominator : Nat) : Binary64 :=
  match x.magnitude with
  | .finite mantissa exponent =>
    let (up, down) := powerOfTwo exponent
    ofQuotient x.negative (mantissa * up * numerator) (down * denominator)
  | _ => x

/-- The integer part, toward zero, of a finite number. -/
def truncate? (x : Binary64) : Option Int :=
  match x.magnitude with
  | .finite mantissa exponent =>
    let (up, down) := powerOfTwo exponent
    let whole : Int := (mantissa * up / down : Nat)
    some (if x.negative then -whole else whole)
  | _ => none

/-- The integer that a number is, if it is one. -/
def toInt? (x : Binary64) : Option Int :=
  match x.magnitude with
  | .finite mantissa exponent =>
    let (up, down) := powerOfTwo exponent
    if mantissa * up % down = 0 then x.truncate? else none
  | _ => none

/-- Whether the absolute value exceeds the largest number of single precision. -/
def exceedsSingle (x : Binary64) : Bool :=
  match x.magnitude with
  | .notANumber => false
  | .infinite => true
  | .finite mantissa exponent =>
    let (up, down) := powerOfTwo exponent
    (Nat.pow 2 24 - 1) * Nat.pow 2 104 * down < mantissa * up

/-- The number rounded to single precision. Of an undefined number only the upper bits remain. -/
def toSingle (x : Binary64) : Binary64 :=
  match x.magnitude with
  | .infinite => x
  | .notANumber =>
    let upper := x.fractionField / Nat.pow 2 29
    let quiet := if upper < Nat.pow 2 22 then upper + Nat.pow 2 22 else upper
    ofFields x.negative 2047 (quiet * Nat.pow 2 29)
  | .finite 0 _ => x
  | .finite mantissa exponent =>
    let (up, down) := powerOfTwo exponent
    match BinaryFormat.single.round? (mantissa * up) down with
    | some (single, place) =>
      let (up, down) := powerOfTwo place
      ofQuotient x.negative (single * up) down
    | none => infinity x.negative

end Binary64

end FilterQuery
