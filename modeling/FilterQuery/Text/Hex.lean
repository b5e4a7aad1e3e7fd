/-!
# Hexadecimal text

Fixed-width lower-case hexadecimal, and the value of a hexadecimal digit.
-/

namespace FilterQuery.Text

/-- The lower-case hexadecimal digit of a number below sixteen. -/
def hexDigit (n : Nat) : Char :=
  if n < 10 then Char.ofNat ('0'.toNat + n) else Char.ofNat ('a'.toNat + n - 10)

/-- The last `width` hexadecimal digits of a number, most significant first. -/
def hexDigits : (width : Nat) → Nat → List Char
  | 0, _ => []
  | width + 1, n => hexDigits width (n / 16) ++ [hexDigit (n % 16)]

/-- A number in lower-case hexadecimal with at least `width` digits. -/
def hexText (width n : Nat) : String := String.ofList (hexDigits width n)

/-- The value of an ASCII hexadecimal digit in either case. -/
def hexValue? (byte : UInt8) : Option Nat :=
  let n := byte.toNat
  if 0x30 ≤ n ∧ n ≤ 0x39 then some (n - 0x30)
  else if 0x61 ≤ n ∧ n ≤ 0x66 then some (n - 0x61 + 10)
  else if 0x41 ≤ n ∧ n ≤ 0x46 then some (n - 0x41 + 10)
  else none

/-- The bytes that pairs of hexadecimal digits spell. -/
def readHex? : List UInt8 → Option (List UInt8)
  | [] => some []
  | [_] => none
  | high :: low :: rest =>
    match hexValue? high, hexValue? low with
    | some upper, some lower => (readHex? rest).map (UInt8.ofNat (upper * 16 + lower) :: ·)
    | _, _ => none

/-- The bytes of a list in lower-case hexadecimal, two digits each. -/
def hexBytes (bytes : List UInt8) : String :=
  String.ofList (bytes.flatMap fun byte => hexDigits 2 byte.toNat)

/-- The UTF-8 bytes of a text. -/
def utf8Bytes (text : String) : List UInt8 := text.toList.flatMap String.utf8EncodeChar

/-- The number of UTF-8 bytes of a list of characters. -/
def utf8Length (text : List Char) : Nat :=
  text.foldr (fun c length => c.utf8Size + length) 0

end FilterQuery.Text
