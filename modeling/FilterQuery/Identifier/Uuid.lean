import FilterQuery.Text.Quoted

/-!
# Universally unique identifiers

Sixteen bytes, written as hexadecimal digits in groups of eight, four, four, four and twelve. They
are also read without hyphens, with the name of the scheme before them, and between any two bytes.
-/

namespace FilterQuery.Uuid

/-- Why a text is no identifier. -/
inductive Fault where
  | length (bytes : Nat)
  | scheme (quoted : String)
  | format
deriving DecidableEq, Repr

/-- The wording of a fault. -/
def Fault.message : Fault → String
  | .length bytes => "invalid UUID length: " ++ toString bytes
  | .scheme quoted => "invalid urn prefix: " ++ quoted
  | .format => "invalid UUID format"

/-- The sixteen bytes of thirty-two digits. -/
def readDigits (digits : List UInt8) : Except Fault (List UInt8) :=
  match Text.readHex? digits with
  | some bytes => .ok bytes
  | none => .error .format

/-- The sixteen bytes of the hyphenated form at the head of a text. -/
def readHyphenated (text : List UInt8) : Except Fault (List UInt8) :=
  let hyphen : UInt8 := 0x2d
  if [8, 13, 18, 23].all fun place => text[place]? == some hyphen then
    let group (start count : Nat) := (text.drop start).take count
    readDigits (group 0 8 ++ group 9 4 ++ group 14 4 ++ group 19 4 ++ group 24 12)
  else .error .format

/-- An ASCII letter in lower case. -/
def lowerByte (byte : UInt8) : UInt8 :=
  if 0x41 ≤ byte ∧ byte ≤ 0x5a then byte + 0x20 else byte

/-- The identifier that a text spells. -/
def read (text : String) : Except Fault (List UInt8) :=
  let bytes := Text.utf8Bytes text
  match bytes.length with
  | 36 => readHyphenated bytes
  | 45 =>
    if (bytes.take 9).map lowerByte = Text.utf8Bytes "urn:uuid:" then readHyphenated (bytes.drop 9)
    else .error (.scheme (Text.quoteBytes 9 text))
  | 38 => readHyphenated (bytes.drop 1)
  | 32 => readDigits bytes
  | count => .error (.length count)

/-- The written form of an identifier. -/
def text (bytes : List UInt8) : String :=
  let group (start count : Nat) := Text.hexBytes ((bytes.drop start).take count)
  "-".intercalate [group 0 4, group 4 2, group 6 2, group 8 2, group 10 6]

end FilterQuery.Uuid
