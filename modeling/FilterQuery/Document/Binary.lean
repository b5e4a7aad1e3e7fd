import FilterQuery.Document.Datum
import FilterQuery.Text.Hex

/-!
# Documents as bytes

The binary form of documents: the length of the whole, the elements, each with the tag of its type
and its key, and a zero byte at the end. Numbers stand with their least significant byte first.
-/

namespace FilterQuery.Document

/-- The number of bytes in which an integer is stored. -/
inductive StoredWidth where
  | four
  | eight
deriving DecidableEq, Repr

/-- The stored width of an integer: four bytes for the types that always fit in them, and for signed
machine words that do. -/
def storedWidth (type : IntegerType) (n : Int) : StoredWidth :=
  let short :=
    match type.width with
    | .bits8 | .bits16 => true
    | .bits32 => type.signed
    | .bits64 => false
    | .word => type.signed && IntegerType.int32.holds n
  if short then .four else .eight

/-- The last `count` bytes of a number, least significant first. -/
def littleEndian : (count : Nat) → Nat → List UInt8
  | 0, _ => []
  | count + 1, n => UInt8.ofNat (n % 256) :: littleEndian count (n / 256)

/-- The last `count` bytes of an integer in two's complement. -/
def signedBytes (count : Nat) (n : Int) : List UInt8 :=
  littleEndian count (n % Int.pow 256 count).toNat

/-- Why a document has no binary form. -/
inductive BinaryFault where
  | zeroInKey
  | zeroInRegex
deriving DecidableEq, Repr

/-- The wording of a fault. -/
def BinaryFault.message : BinaryFault → String
  | .zeroInKey => "BSON element key cannot contain null bytes"
  | .zeroInRegex => "BSON regex values cannot contain null bytes"

/-- A text with a zero byte at its end, which may stand nowhere else. -/
def zeroTerminated (fault : BinaryFault) (text : String) : Except BinaryFault (List UInt8) :=
  if text.toList.contains '\x00' then .error fault else .ok (Text.utf8Bytes text ++ [0])

/-- The tag and the key of an element. -/
def elementHead (tag : UInt8) (key : String) : Except BinaryFault (List UInt8) :=
  (zeroTerminated .zeroInKey key).map (tag :: ·)

/-- An element with its tag, its key and its bytes. -/
def element (tag : UInt8) (key : String) (body : List UInt8) : Except BinaryFault (List UInt8) :=
  (elementHead tag key).map (· ++ body)

/-- Bytes with their number before them. -/
def counted (bytes : List UInt8) : List UInt8 := littleEndian 4 bytes.length ++ bytes

/-- The elements of a document between its length and its end. -/
def framed (elements : List UInt8) : List UInt8 :=
  littleEndian 4 (elements.length + 5) ++ elements ++ [0]

/-- Sixteen bytes without a meaning of their own. -/
def binaryBody (bytes : List UInt8) : List UInt8 := littleEndian 4 bytes.length ++ 0 :: bytes

mutual

/-- The bytes of an element. -/
def elementBytes (key : String) : Datum → Except BinaryFault (List UInt8)
  | .null | .noDocument => element 0x0a key []
  | .integer type n =>
    match storedWidth type n with
    | .four => element 0x10 key (signedBytes 4 n)
    | .eight => element 0x12 key (signedBytes 8 n)
  | .float _ x => element 0x01 key (littleEndian 8 x.bits.toNat)
  | .boolean _ b => element 0x08 key [if b then 1 else 0]
  | .string _ s => element 0x02 key (counted (Text.utf8Bytes s ++ [0]))
  | .instant t => element 0x09 key (signedBytes 8 t.milliseconds)
  | .uuid bytes | .ulid bytes => element 0x05 key (binaryBody bytes)
  | .objectId bytes => element 0x07 key bytes
  | .regex pattern => do
    let body ← zeroTerminated .zeroInRegex pattern
    element 0x0b key (body ++ [0])
  | .document fields => do
    let head ← elementHead 0x03 key
    let elements ← fieldBytes fields
    pure (head ++ framed elements)
  | .array items => do
    let head ← elementHead 0x04 key
    let elements ← itemBytes 0 items
    pure (head ++ framed elements)

/-- The bytes of the elements of a document. -/
def fieldBytes : List (String × Datum) → Except BinaryFault (List UInt8)
  | [] => .ok []
  | (key, value) :: rest => do
    let first ← elementBytes key value
    let others ← fieldBytes rest
    pure (first ++ others)

/-- The bytes of the elements of an array, whose keys are their places from `index` on. -/
def itemBytes (index : Nat) : List Datum → Except BinaryFault (List UInt8)
  | [] => .ok []
  | value :: rest => do
    let first ← elementBytes (toString index) value
    let others ← itemBytes (index + 1) rest
    pure (first ++ others)

end

/-- The binary form of a document with some fields. -/
def binary (fields : List (String × Datum)) : Except BinaryFault (List UInt8) :=
  (fieldBytes fields).map framed

end FilterQuery.Document
