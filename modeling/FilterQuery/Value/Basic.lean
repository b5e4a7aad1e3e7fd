import FilterQuery.Document.Datum
import FilterQuery.Number.Decimal
import FilterQuery.Text.Quoted

/-!
# Values

A value is what a literal stands for, together with the text it was written as.
-/

namespace FilterQuery

/-- The kinds of values. -/
inductive ValueKind where
  | integer32
  | integer64
  | float
  | boolean
  | instant
  | duration
  | string
  | wildcard
  | text
  | none
deriving DecidableEq, Repr

namespace ValueKind

/-- The number of a kind. -/
def code : ValueKind → Nat
  | .none => 0
  | .integer32 => 1
  | .integer64 => 2
  | .float => 3
  | .boolean => 4
  | .instant => 5
  | .duration => 6
  | .string => 7
  | .wildcard => 8
  | .text => 9

/-- The name of the kind with a number; numbers of no kind are shown themselves. -/
def nameOfCode (code : Int) : String :=
  match code with
  | 1 => "integer32"
  | 2 => "integer64"
  | 3 => "float64"
  | 4 => "bool"
  | 5 => "utc instant"
  | 6 => "duration millis"
  | 7 => "string"
  | 8 => "wildcard"
  | 9 => "text"
  | other => "ValueKind(" ++ toString other ++ ")"

/-- The name of a kind. -/
def name (kind : ValueKind) : String := nameOfCode kind.code

end ValueKind

/-- The content of a value. Durations are in milliseconds. -/
inductive Content where
  | none
  | integer32 (n : Int32)
  | integer64 (n : Int64)
  | float (x : Binary64)
  | boolean (b : Bool)
  | instant (t : Instant)
  | duration (milliseconds : Binary64)
  | string (s : String)
  | wildcard (s : String)
  | text (s : String)
deriving DecidableEq

/-- The kind of a content. -/
def Content.kind : Content → ValueKind
  | .none => .none
  | .integer32 _ => .integer32
  | .integer64 _ => .integer64
  | .float _ => .float
  | .boolean _ => .boolean
  | .instant _ => .instant
  | .duration _ => .duration
  | .string _ => .string
  | .wildcard _ => .wildcard
  | .text _ => .text

/-- A value with the text it was written as. -/
structure Value where
  raw : String
  content : Content
deriving DecidableEq

namespace Value

/-- The value with nothing in it. -/
def empty : Value := ⟨"", .none⟩

/-- The text of a boolean. -/
def booleanText (b : Bool) : String := if b then "true" else "false"

/-- The text that a content is written as when no literal gives one. -/
def rawOf : Content → String
  | .none => ""
  | .integer32 n => toString n.toInt
  | .integer64 n => toString n.toInt
  | .float x => x.text
  | .boolean b => booleanText b
  | .instant t => t.text
  | .duration ms => (ms.scale 1 1000).text ++ "s"
  | .string s => Text.quote s
  | .wildcard s => s
  | .text s => s

/-- The value of a content. -/
def ofContent (content : Content) : Value := ⟨rawOf content, content⟩

/-- The kind of a value. -/
def kind (value : Value) : ValueKind := value.content.kind

/-- Whether a value is a quoted string or bare text. -/
def isText (value : Value) : Bool :=
  match value.content with
  | .string _ | .text _ => true
  | _ => false

/-- Whether a value is an integer. -/
def isInteger (value : Value) : Bool :=
  match value.content with
  | .integer32 _ | .integer64 _ => true
  | _ => false

/-- The integer that a value is. -/
def integer? (value : Value) : Option Int :=
  match value.content with
  | .integer32 n => some n.toInt
  | .integer64 n => some n.toInt
  | _ => none

/-- The number that a value is, durations in milliseconds. -/
def float? (value : Value) : Option Binary64 :=
  match value.content with
  | .integer32 n => some (Binary64.ofInt n.toInt)
  | .integer64 n => some (Binary64.ofInt n.toInt)
  | .float x => some x
  | .duration ms => some ms
  | _ => none

/-- Milliseconds in nanoseconds, toward zero. What does not fit in sixty-four bits is the least
number that does. -/
def nanoseconds (milliseconds : Binary64) : Int :=
  match (milliseconds.scale 1000000 1).truncate? with
  | some n => if IntegerType.int64.holds n then n else -Int.pow 2 63
  | none => -Int.pow 2 63

/-- The nanoseconds that a duration lasts. -/
def duration? (value : Value) : Option Int :=
  match value.content with
  | .duration ms => some (nanoseconds ms)
  | _ => none

/-- The instant that a value is. -/
def instant? (value : Value) : Option Instant :=
  match value.content with
  | .instant t => some t
  | _ => none

/-- The text of a string, a wildcard or bare text. -/
def text? (value : Value) : Option String :=
  match value.content with
  | .string s | .wildcard s | .text s => some s
  | _ => none

/-- The value as a piece of data. -/
def datum (value : Value) : Datum :=
  match value.content with
  | .none => .null
  | .integer32 n => .integer .int32 n.toInt
  | .integer64 n => .integer .int64 n.toInt
  | .float x => .float .float64 x
  | .duration ms => .float .float64 ms
  | .boolean b => .boolean "bool" b
  | .instant t => .instant t
  | .string s | .wildcard s | .text s => .string "string" s

end Value

end FilterQuery
