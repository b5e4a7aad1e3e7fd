import FilterQuery.Instant.Basic
import FilterQuery.Number.Binary64

/-!
# Data

What predicates hold: numbers of various widths, text, instants, identifiers, and the documents and
arrays made of them. Named types keep their name.
-/

namespace FilterQuery

/-- The width of an integer type; a machine word has sixty-four bits. -/
inductive IntegerWidth where
  | bits8
  | bits16
  | bits32
  | bits64
  | word
deriving DecidableEq, Repr

/-- The number of bits of a width. -/
def IntegerWidth.bits : IntegerWidth → Nat
  | .bits8 => 8
  | .bits16 => 16
  | .bits32 => 32
  | .bits64 => 64
  | .word => 64

/-- An integer type with its name. -/
structure IntegerType where
  name : String
  signed : Bool
  width : IntegerWidth
deriving DecidableEq, Repr

namespace IntegerType

/-- Whether an integer is in the range of a type. -/
def holds (type : IntegerType) (n : Int) : Bool :=
  if type.signed then
    -Int.pow 2 (type.width.bits - 1) ≤ n && n < Int.pow 2 (type.width.bits - 1)
  else 0 ≤ n && n < Int.pow 2 type.width.bits

/-- Signed integers of thirty-two bits. -/
def int32 : IntegerType := ⟨"int32", true, .bits32⟩

/-- Signed integers of sixty-four bits. -/
def int64 : IntegerType := ⟨"int64", true, .bits64⟩

/-- Lengths of time in nanoseconds. -/
def duration : IntegerType := ⟨"time.Duration", true, .bits64⟩

end IntegerType

/-- A floating-point type with its name. -/
structure FloatType where
  name : String
  single : Bool
deriving DecidableEq, Repr

/-- Double precision. -/
def FloatType.float64 : FloatType := ⟨"float64", false⟩

/-- A piece of data. `noDocument` is the document of a filter that was never built. -/
inductive Datum where
  | null
  | integer (type : IntegerType) (value : Int)
  | float (type : FloatType) (value : Binary64)
  | boolean (type : String) (value : Bool)
  | string (type : String) (value : String)
  | instant (value : Instant)
  | uuid (bytes : List UInt8)
  | ulid (bytes : List UInt8)
  | objectId (bytes : List UInt8)
  | regex (pattern : String)
  | noDocument
  | document (fields : List (String × Datum))
  | array (items : List Datum)

end FilterQuery
