import FilterQuery.Document.Binary
import FilterQuery.Json.Text
import FilterQuery.Number.Decimal
import FilterQuery.Text.Base64

/-!
# Documents as extended JSON

Documents as JSON text with the types of the data. The canonical form marks every type; the relaxed
form writes numbers and the dates of usual years plainly.
-/

namespace FilterQuery.Document

/-- The two forms. -/
inductive JsonForm where
  | canonical
  | relaxed
deriving DecidableEq, Repr

/-- Numbers with a fraction or an exponent, positional from 0.0001 to 999999. -/
def doubleLayout : DecimalLayout := ⟨-4, 6, 'E', 2, true⟩

/-- A text as a JSON string. -/
def jsonText (text : String) : String := Json.quote false text

/-- A value under the mark of its type. -/
def marked (mark value : String) : String := Json.object false [(mark, value)]

/-- An integer. -/
def integerJson (form : JsonForm) (type : IntegerType) (n : Int) : String :=
  match form, storedWidth type n with
  | .relaxed, _ => toString n
  | .canonical, .four => marked "$numberInt" (jsonText (toString n))
  | .canonical, .eight => marked "$numberLong" (jsonText (toString n))

/-- The name of a number that is not finite. -/
def specialName (x : Binary64) : String :=
  if x.magnitude = .notANumber then "NaN" else if x.negative then "-Infinity" else "Infinity"

/-- A floating-point number. Numbers that are not finite are always marked. -/
def floatJson (form : JsonForm) (x : Binary64) : String :=
  match doubleLayout.finiteText? x, form with
  | some text, .relaxed => text
  | some text, .canonical => marked "$numberDouble" (jsonText text)
  | none, _ => marked "$numberDouble" (jsonText (specialName x))

/-- An instant in milliseconds. The relaxed form has a written date from 1970 to 9999. -/
def instantJson (form : JsonForm) (instant : Instant) : String :=
  let milliseconds := instant.milliseconds
  let kept : Instant := ⟨milliseconds / 1000, (milliseconds % 1000).toNat * 1000000⟩
  let year := kept.date.year
  if form = .relaxed ∧ 1970 ≤ year ∧ year ≤ 9999 then
    marked "$date" (jsonText (kept.textWith 3))
  else marked "$date" (marked "$numberLong" (jsonText (toString milliseconds)))

/-- Bytes without a meaning of their own. -/
def binaryJson (bytes : List UInt8) : String :=
  marked "$binary" <| Json.object false
    [("base64", jsonText (Text.base64 bytes)), ("subType", jsonText "00")]

mutual

/-- A piece of data as extended JSON. -/
def extendedJson (form : JsonForm) : Datum → String
  | .null | .noDocument => "null"
  | .integer type n => integerJson form type n
  | .float _ x => floatJson form x
  | .boolean _ b => if b then "true" else "false"
  | .string _ s => jsonText s
  | .instant t => instantJson form t
  | .uuid bytes | .ulid bytes => binaryJson bytes
  | .objectId bytes => marked "$oid" (jsonText (Text.hexBytes bytes))
  | .regex pattern =>
    marked "$regularExpression" <| Json.object false
      [("pattern", jsonText pattern), ("options", jsonText "")]
  | .document fields => Json.object false (extendedFields form fields)
  | .array items => Json.array (extendedItems form items)

/-- The fields of a document with their values as extended JSON. -/
def extendedFields (form : JsonForm) : List (String × Datum) → List (String × String)
  | [] => []
  | (key, value) :: rest => (key, extendedJson form value) :: extendedFields form rest

/-- The items of an array as extended JSON. -/
def extendedItems (form : JsonForm) : List Datum → List String
  | [] => []
  | value :: rest => extendedJson form value :: extendedItems form rest

end

end FilterQuery.Document
