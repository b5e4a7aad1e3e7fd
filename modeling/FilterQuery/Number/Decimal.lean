import FilterQuery.Number.Binary64

/-!
# Numbers in decimal

A double-precision number is written with the fewest digits that read back as the same number, and
of those with the digits nearest to it. A `DecimalLayout` decides where the point stands and when an
exponent is written.
-/

namespace FilterQuery

/-- A positive decimal number: `coefficient * 10 ^ exponent`. -/
structure Decimal where
  coefficient : Nat
  exponent : Int
deriving DecidableEq, Repr

namespace Decimal

/-- Ten to an integer power as a fraction. -/
def powerOfTen (exponent : Int) : Nat × Nat :=
  (Nat.pow 10 exponent.toNat, Nat.pow 10 (-exponent).toNat)

/-- The multiple of `10 ^ place` nearest to `mantissa * 2 ^ exponent` that reads back as this
number, if there is one. In quarters of the last bit the numbers that read back as it reach from
`4 * mantissa - below` to `4 * mantissa + 2`, the ends included if the mantissa is even. -/
def onGrid? (mantissa below : Nat) (exponent place : Int) : Option Nat :=
  let (twoUp, twoDown) := powerOfTwo (exponent - 2)
  let (tenUp, tenDown) := powerOfTen place
  let unit := tenUp * twoDown
  let value (quarters : Nat) : Nat := quarters * twoUp * tenDown
  let lower := value (4 * mantissa - below)
  let upper := value (4 * mantissa + 2)
  let exact := value (4 * mantissa)
  let inside (candidate : Nat) : Bool :=
    if mantissa % 2 = 0 then lower ≤ candidate * unit && candidate * unit ≤ upper
    else lower < candidate * unit && candidate * unit < upper
  let down := exact / unit
  let nearDown := 2 * (exact % unit) < unit || (2 * (exact % unit) == unit && down % 2 == 0)
  let downFits := 0 < down && inside down
  let upFits := inside (down + 1)
  if downFits && (nearDown || !upFits) then some down
  else if upFits then some (down + 1)
  else none

/-- The first place from `place` downwards on whose grid a number reads back. -/
def search (mantissa below : Nat) (exponent : Int) : (attempts : Nat) → (place : Int) → Decimal
  | 0, _ =>
    let (up, down) := powerOfTwo exponent
    ⟨mantissa * up * Nat.pow 5 down.log2, -down.log2⟩
  | attempts + 1, place =>
    match onGrid? mantissa below exponent place with
    | some coefficient => ⟨coefficient, place⟩
    | none => search mantissa below exponent attempts (place - 1)

/-- The shortest decimal that reads back as `mantissa * 2 ^ exponent`, which is positive and in the
double-precision format. -/
def shortest (mantissa : Nat) (exponent : Int) : Decimal :=
  let below := if mantissa = Nat.pow 2 52 ∧ -1074 < exponent then 1 else 2
  let place := ((mantissa.log2 : Int) + 1 + exponent) * 30103 / 100000 + 2
  search mantissa below exponent 24 place

end Decimal

/-- How numbers are laid out: the exponents of the leading digit that are written positionally, the
exponent mark, the least number of exponent digits, and whether a whole number shows a fraction. -/
structure DecimalLayout where
  positionalFrom : Int
  positionalBelow : Int
  mark : Char
  exponentDigits : Nat
  fractionAlways : Bool

namespace DecimalLayout

/-- Digits with the point after the first `whole` of them, zeros filling the gaps. -/
def positional (layout : DecimalLayout) (digits : List Char) (whole : Int) : List Char :=
  let count : Int := digits.length
  if whole ≤ 0 then '0' :: '.' :: List.replicate (-whole).toNat '0' ++ digits
  else if count ≤ whole then
    digits ++ List.replicate (whole - count).toNat '0' ++
      (if layout.fractionAlways then ['.', '0'] else [])
  else digits.take whole.toNat ++ '.' :: digits.drop whole.toNat

/-- Digits with the point after the first of them and the exponent of ten. -/
def exponential (layout : DecimalLayout) (digits : List Char) (exponent : Int) : List Char :=
  let fraction := digits.drop 1
  let size := (toString exponent.natAbs).toList
  digits.take 1 ++ (if fraction.isEmpty then [] else '.' :: fraction) ++
    layout.mark :: (if exponent < 0 then '-' else '+') ::
    List.replicate (layout.exponentDigits - size.length) '0' ++ size

/-- The text of a positive decimal. -/
def decimalText (layout : DecimalLayout) (decimal : Decimal) : List Char :=
  let digits := (toString decimal.coefficient).toList
  let exponent := (digits.length : Int) + decimal.exponent - 1
  if layout.positionalFrom ≤ exponent ∧ exponent < layout.positionalBelow then
    layout.positional digits (exponent + 1)
  else layout.exponential digits exponent

/-- The text of a finite number, none for others. -/
def finiteText? (layout : DecimalLayout) (x : Binary64) : Option String :=
  match x.magnitude with
  | .finite mantissa exponent =>
    let digits :=
      if mantissa = 0 then '0' :: (if layout.fractionAlways then ['.', '0'] else [])
      else layout.decimalText (Decimal.shortest mantissa exponent)
    some (String.ofList (if x.negative then '-' :: digits else digits))
  | _ => none

/-- Literals and messages: positional from 0.0001 to 999999. -/
def plain : DecimalLayout := ⟨-4, 6, 'e', 2, false⟩

/-- Positional throughout. -/
def unscaled : DecimalLayout := ⟨-400, 400, 'e', 2, false⟩

end DecimalLayout

/-- The text of any number in literals and messages. -/
def Binary64.text (x : Binary64) : String :=
  match DecimalLayout.plain.finiteText? x with
  | some text => text
  | none =>
    if x.magnitude = .notANumber then "NaN"
    else if x.negative then "-Inf" else "+Inf"

end FilterQuery
