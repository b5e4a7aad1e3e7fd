import FilterQuery.Text.Quoted

/-!
# Object identifiers

Twelve bytes, written as twenty-four hexadecimal digits.
-/

namespace FilterQuery.ObjectId

/-- Why a text is no identifier. -/
inductive Fault where
  | length
  | digit (byte : UInt8)
deriving DecidableEq, Repr

/-- The wording of a fault. -/
def Fault.message : Fault → String
  | .length => "the provided hex string is not a valid ObjectID"
  | .digit byte => "encoding/hex: invalid byte: " ++ Text.codePointName (Char.ofNat byte.toNat)

/-- The identifier that a text spells. -/
def read (text : String) : Except Fault (List UInt8) :=
  let digits := Text.utf8Bytes text
  if digits.length ≠ 24 then .error .length
  else
    match digits.find? fun byte => (Text.hexValue? byte).isNone with
    | some byte => .error (.digit byte)
    | none => .ok ((Text.readHex? digits).getD [])

/-- The written form of an identifier. -/
def text (bytes : List UInt8) : String := Text.hexBytes bytes

end FilterQuery.ObjectId
