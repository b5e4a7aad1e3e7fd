import FilterQuery.Document.Schema
import FilterQuery.Identifier.ObjectId
import FilterQuery.Identifier.Ulid
import FilterQuery.Identifier.Uuid
import FilterQuery.Instant.Reading
import FilterQuery.Value.Basic

/-!
# Coercion

A value that is compared with a field becomes a piece of data of the field's type. Collections take
values of their element type. Durations are milliseconds in numeric fields.
-/

namespace FilterQuery

/-- Why a value has no counterpart in a type. -/
inductive CoercionFault where
  | mismatch (type : String) (kind : ValueKind) (raw : String)
  | overflow (number type : String)
  | datetime (error : DatetimeError)
  | uuid (fault : Uuid.Fault)
  | ulid (fault : Ulid.Fault)
  | objectId (fault : ObjectId.Fault)

/-- The wording of a fault. -/
def CoercionFault.message : CoercionFault → String
  | .mismatch type kind raw =>
    "cannot coerce " ++ kind.name ++ " " ++ Text.quote raw ++ " into " ++ type
  | .overflow number type => number ++ " overflows " ++ type
  | .datetime error => "parse datetime: " ++ error.message
  | .uuid fault => "parse uuid: " ++ fault.message
  | .ulid fault => "parse ulid: " ++ fault.message
  | .objectId fault => "parse object id: " ++ fault.message

namespace Value

/-- The whole number that a value is: an integer, or a duration of whole milliseconds. -/
def wholeNumber? (value : Value) : Option Int :=
  match value.content with
  | .duration milliseconds => milliseconds.toInt?.filter IntegerType.int64.holds
  | _ => value.integer?

/-- The text of a value, or else how it was written. -/
def textOrRaw (value : Value) : String := value.text?.getD value.raw

end Value

namespace ElementType

/-- The fault of a value that a type has no place for. -/
def mismatch (type : ElementType) (value : Value) : CoercionFault :=
  .mismatch type.name value.kind value.raw

/-- A value as an integer of a type. -/
def coerceInteger (type : IntegerType) (value : Value) : Except CoercionFault Datum :=
  match value.wholeNumber? with
  | some n =>
    if type.holds n then .ok (.integer type n) else .error (.overflow (toString n) type.name)
  | none => .error (mismatch (.integer type) value)

/-- A value as a floating-point number of a type. -/
def coerceFloat (type : FloatType) (value : Value) : Except CoercionFault Datum :=
  match value.float? with
  | some x =>
    if type.single && x.exceedsSingle then .error (.overflow x.text type.name)
    else .ok (.float type (if type.single then x.toSingle else x))
  | none => .error (mismatch (.float type) value)

/-- A value as an instant. -/
def coerceInstant (value : Value) : Except CoercionFault Datum :=
  match value.instant?, value.text? with
  | some moment, _ => .ok (.instant moment)
  | none, some text => ((Instant.read text).map Datum.instant).mapError CoercionFault.datetime
  | none, none => .error (mismatch .instant value)

/-- A value as a piece of data of a type. Types without rules of their own take it as it is. -/
def coerce (type : ElementType) (value : Value) : Except CoercionFault Datum :=
  match type with
  | .instant => coerceInstant value
  | .duration =>
    match value.duration? with
    | some nanoseconds => .ok (.integer .duration nanoseconds)
    | none => .error (type.mismatch value)
  | .uuid => ((Uuid.read value.textOrRaw).map Datum.uuid).mapError CoercionFault.uuid
  | .ulid => ((Ulid.read value.textOrRaw).map Datum.ulid).mapError CoercionFault.ulid
  | .objectId =>
    ((ObjectId.read value.textOrRaw).map Datum.objectId).mapError CoercionFault.objectId
  | .string name => .ok (.string name value.textOrRaw)
  | .boolean name =>
    match value.content with
    | .boolean b => .ok (.boolean name b)
    | _ => .error (type.mismatch value)
  | .integer integerType => coerceInteger integerType value
  | .float floatType => coerceFloat floatType value
  | .bytes | .other _ | .struct _ => .ok value.datum

end ElementType

end FilterQuery
