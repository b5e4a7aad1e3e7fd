import FilterQuery.Text.Hex

/-!
# Sortable identifiers

One hundred and twenty-eight bits, written as twenty-six digits of base thirty-two without the
letters I, L, O and U. They are read in either case.
-/

namespace FilterQuery.Ulid

/-- Why a text is no identifier. -/
inductive Fault where
  | size
  | characters
  | overflow
deriving DecidableEq, Repr

/-- The wording of a fault. -/
def Fault.message : Fault → String
  | .size => "ulid: bad data size when unmarshaling"
  | .characters => "ulid: bad data characters when unmarshaling"
  | .overflow => "ulid: overflow when unmarshaling"

/-- The digits of base thirty-two. -/
def alphabet : List Char := "0123456789ABCDEFGHJKMNPQRSTVWXYZ".toList

/-- The value of a digit in either case. -/
def digitValue? (byte : UInt8) : Option Nat :=
  let upper := if 0x61 ≤ byte ∧ byte ≤ 0x7a then byte - 0x20 else byte
  alphabet.findIdx? (·.toNat == upper.toNat)

/-- The last `count` bytes of a number, most significant first. -/
def bytesOf : (count : Nat) → Nat → List UInt8
  | 0, _ => []
  | count + 1, n => bytesOf count (n / 256) ++ [UInt8.ofNat (n % 256)]

/-- The last `count` digits of a number, most significant first. -/
def digitsOf : (count : Nat) → Nat → List Char
  | 0, _ => []
  | count + 1, n => digitsOf count (n / 32) ++ [alphabet.getD (n % 32) '0']

/-- The identifier that a text spells. -/
def read (text : String) : Except Fault (List UInt8) :=
  let bytes := Text.utf8Bytes text
  if bytes.length ≠ 26 then .error .size
  else
    match bytes.mapM digitValue? with
    | none => .error .characters
    | some digits =>
      if 7 < digits.headD 0 then .error .overflow
      else .ok (bytesOf 16 (digits.foldl (fun n digit => n * 32 + digit) 0))

/-- The written form of an identifier. -/
def text (bytes : List UInt8) : String :=
  String.ofList (digitsOf 26 (bytes.foldl (fun n byte => n * 256 + byte.toNat) 0))

end FilterQuery.Ulid
