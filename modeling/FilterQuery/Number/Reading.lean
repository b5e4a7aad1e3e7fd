import FilterQuery.Number.Binary64
import FilterQuery.Text.Hex

/-!
# Reading numbers

Integers are read in decimal with an optional sign and must fit in a number of bits. Floating-point
numbers are read in decimal or hexadecimal with an optional sign, point and exponent; underscores
may stand between digits; the words for infinity and for the undefined number are read in any case.
-/

namespace FilterQuery

/-- Why a text is not read as a number: it is malformed, or no number of the format is that
large. -/
inductive NumberFault where
  | malformed
  | outOfRange
deriving DecidableEq, Repr

/-- The wording of a number fault. -/
def NumberFault.message : NumberFault → String
  | .malformed => "invalid syntax"
  | .outOfRange => "value out of range"

namespace Number

/-- The value of a decimal digit. -/
def digitValue (c : Char) : Nat := c.toNat - '0'.toNat

/-- A sign at the head of a text, and the text after it. -/
def takeSign : List Char → Bool × List Char
  | '-' :: rest => (true, rest)
  | '+' :: rest => (false, rest)
  | text => (false, text)

/-- The number of some bits that digits spell after digits of value `value`. The digits are read from
the left, and the first that is no digit or that makes the number too large decides the fault. -/
def readDigits (bits value : Nat) : List Char → Except NumberFault Nat
  | [] => .ok value
  | c :: rest =>
    if c.isDigit then
      let next := value * 10 + digitValue c
      if next < Nat.pow 2 bits then readDigits bits next rest else .error .outOfRange
    else .error .malformed

/-- An integer within the range of signed numbers of some bits. -/
def fitInteger (bits : Nat) (n : Int) : Except NumberFault Int :=
  if -Int.pow 2 (bits - 1) ≤ n ∧ n < Int.pow 2 (bits - 1) then .ok n else .error .outOfRange

/-- The integer of some bits that a text spells. -/
def readInteger (bits : Nat) (text : String) : Except NumberFault Int :=
  let (negative, digits) := takeSign text.toList
  if digits.isEmpty then .error .malformed
  else do
    let value ← readDigits bits 0 digits
    fitInteger bits (if negative then -value else value)

/-- The lower-case form of an ASCII letter. -/
def lowerAscii (c : Char) : Char :=
  if 'A' ≤ c ∧ c ≤ 'Z' then Char.ofNat (c.toNat + 32) else c

/-- The value of a digit in base ten, or in base sixteen if `hex`. -/
def baseDigit? (hex : Bool) (c : Char) : Option Nat :=
  if c.isDigit then some (digitValue c)
  else if hex ∧ 'a' ≤ lowerAscii c ∧ lowerAscii c ≤ 'f' then
    some ((lowerAscii c).toNat - 'a'.toNat + 10)
  else none

/-- The digits of a number as they are read: the value of all of them, how many there are, and how
many stand after the point, if there has been one. -/
structure Digits where
  value : Nat := 0
  count : Nat := 0
  afterPoint : Option Nat := none

/-- One more digit. -/
def Digits.push (base : Nat) (digits : Digits) (d : Nat) : Digits :=
  { value := digits.value * base + d
    count := digits.count + 1
    afterPoint := digits.afterPoint.map (· + 1) }

/-- Reads digits with at most one point, passing over underscores, up to the first other
character. -/
def takeDigits (hex : Bool) (digits : Digits) : List Char → Digits × List Char
  | [] => (digits, [])
  | c :: rest =>
    if c = '_' then takeDigits hex digits rest
    else if c = '.' then
      if digits.afterPoint.isSome then (digits, c :: rest)
      else takeDigits hex { digits with afterPoint := some 0 } rest
    else
      match baseDigit? hex c with
      | some d => takeDigits hex (digits.push (if hex then 16 else 10) d) rest
      | none => (digits, c :: rest)

/-- The value of the digits of an exponent, underscores passed over. Beyond ten thousand further
digits no longer count. -/
def exponentValue (digits : List Char) : Nat :=
  (digits.filter (· != '_')).foldl
    (fun value c => if value < 10000 then value * 10 + digitValue c else value) 0

/-- Reads an exponent up to the end of the text: a sign, a digit, then digits and underscores. -/
def readExponent? (text : List Char) : Option Int :=
  let (negative, digits) := takeSign text
  match digits with
  | [] => none
  | c :: _ =>
    if c.isDigit && digits.all (fun c => c.isDigit || c == '_') then
      let value : Int := exponentValue digits
      some (if negative then -value else value)
    else none

/-- What an underscore check has seen last. -/
inductive Seen where
  | start
  | digit
  | underscore
  | other
deriving DecidableEq

/-- Whether every underscore has a digit on both sides. -/
def separatesDigits (hex : Bool) (seen : Seen) : List Char → Bool
  | [] => seen != .underscore
  | c :: rest =>
    if (baseDigit? hex c).isSome then separatesDigits hex .digit rest
    else if c = '_' then seen == .digit && separatesDigits hex .underscore rest
    else seen != .underscore && separatesDigits hex .other rest

/-- Whether the underscores of an unsigned number stand between digits. A base mark counts as a
digit. -/
def underscoresFit (text : List Char) : Bool :=
  match text with
  | '0' :: mark :: rest =>
    let base := lowerAscii mark
    if base = 'x' ∨ base = 'b' ∨ base = 'o' then separatesDigits (base == 'x') .digit rest
    else separatesDigits false .start text
  | _ => separatesDigits false .start text

/-- The number `value * 2 ^ exponent`. Exponents far beyond the format are not computed. -/
def scaleByTwo (negative : Bool) (value : Nat) (exponent : Int) : Binary64 :=
  let leading := (value.log2 : Int) + exponent
  if value = 0 ∨ leading < -1200 then Binary64.ofFields negative 0 0
  else if 1100 < leading then Binary64.infinity negative
  else
    let (up, down) := powerOfTwo exponent
    Binary64.ofQuotient negative (value * up) down

/-- The number `value * 10 ^ exponent`. Exponents far beyond the format are not computed. -/
def scaleByTen (negative : Bool) (value : Nat) (exponent : Int) : Binary64 :=
  let leading := ((toString value).length : Int) + exponent
  if value = 0 ∨ leading < -400 then Binary64.ofFields negative 0 0
  else if 400 < leading then Binary64.infinity negative
  else
    Binary64.ofQuotient negative (value * Nat.pow 10 exponent.toNat)
      (Nat.pow 10 (-exponent).toNat)

/-- Reads an unsigned number in the given base after its base mark. -/
def readScaled? (negative hex : Bool) (text : List Char) : Option Binary64 :=
  let (digits, rest) := takeDigits hex {} text
  let places : Int := digits.afterPoint.getD 0
  if digits.count = 0 then none
  else
    match rest with
    | [] =>
      if hex then none else some (scaleByTen negative digits.value (-places))
    | mark :: rest =>
      if lowerAscii mark = (if hex then 'p' else 'e') then
        (readExponent? rest).map fun exponent =>
          if hex then scaleByTwo negative digits.value (exponent - 4 * places)
          else scaleByTen negative digits.value (exponent - places)
      else none

/-- Reads an unsigned number. -/
def readMagnitude? (negative : Bool) (text : List Char) : Option Binary64 :=
  if text.contains '_' && !underscoresFit text then none
  else
    match text with
    | '0' :: mark :: c :: rest =>
      if lowerAscii mark = 'x' then readScaled? negative true (c :: rest)
      else readScaled? negative false text
    | _ => readScaled? negative false text

/-- The words for infinity, with a sign, and for the undefined number, without one. -/
def readWord? (text : List Char) : Option Binary64 :=
  let (negative, word) := takeSign text
  let word := String.ofList (word.map lowerAscii)
  if word = "inf" ∨ word = "infinity" then some (Binary64.infinity negative)
  else if String.ofList (text.map lowerAscii) = "nan" then some Binary64.nan
  else none

/-- The number that a text spells. A number that rounds to infinity is out of range. -/
def readFloat (text : String) : Except NumberFault Binary64 :=
  match readWord? text.toList with
  | some x => .ok x
  | none =>
    let (negative, magnitude) := takeSign text.toList
    match readMagnitude? negative magnitude with
    | none => .error .malformed
    | some x => if x.magnitude = .infinite then .error .outOfRange else .ok x

end Number

end FilterQuery
