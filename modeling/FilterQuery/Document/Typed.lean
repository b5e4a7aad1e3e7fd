import FilterQuery.Compile.Event
import FilterQuery.Document.Coercion
import FilterQuery.Document.Query

/-!
# Query documents for a document type

Query documents whose values have the types of the fields that they are compared with. A field that
the document type does not have takes the value as it is, and is reported.
-/

namespace FilterQuery.Document

/-- Why a query document for a document type cannot be built. -/
inductive TypedFailure where
  | noOperands (failure : NoOperands)
  | coercion (field : String) (fault : CoercionFault)

/-- The wording of a failure. -/
def TypedFailure.message : TypedFailure → String
  | .noOperands failure => failure.message
  | .coercion field fault => "field " ++ Text.quote field ++ ": " ++ fault.message

/-- A value in the type of a field. -/
def coerceField (index : FieldIndex) (field : String) (value : Value) :
    Build (List Event) TypedFailure Datum :=
  match index.find? field with
  | some type =>
    Build.ofExcept ((type.elementType.coerce value).mapError (TypedFailure.coercion field))
  | none => do
    modify (· ++ [Event.unknownField field value.kind])
    pure value.datum

/-- The backend of query documents for a document type, which keeps what there is to report. -/
def typedBackend (index : FieldIndex) : Backend (List Event) TypedFailure Datum where
  name := backendName
  conjunction operands :=
    Build.ofExcept ((combine "$and" operands).mapError TypedFailure.noOperands)
  disjunction operands :=
    Build.ofExcept ((combine "$or" operands).mapError TypedFailure.noOperands)
  negation operand := pure (negate operand)
  prefixSearch field literal := pure (startsWith field literal)
  suffixSearch field literal := pure (endsWith field literal)
  compare comparator field value := do
    let datum ← coerceField index field value
    pure (relate comparator field datum)

end FilterQuery.Document
