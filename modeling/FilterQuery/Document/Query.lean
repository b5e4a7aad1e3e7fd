import FilterQuery.Compile.Backend

/-!
# Query documents

Predicates as documents: operators are keys that start with a dollar sign, and a field is a key with
the value or the operators that it is compared with.
-/

namespace FilterQuery.Document

/-- A document of one field. -/
def single (key : String) (value : Datum) : Datum := .document [(key, value)]

/-- The operands of a conjunction or disjunction under its operator. -/
def combine (operator : String) (operands : List Datum) : Except NoOperands Datum :=
  if operands.isEmpty then .error ⟨operator⟩ else .ok (single operator (.array operands))

/-- A condition that shall not hold. -/
def negate (operand : Datum) : Datum := single "$nor" (.array [operand])

/-- A field compared with a value. -/
def relate (comparator : Comparator) (field : String) (value : Datum) : Datum :=
  match comparator with
  | .equal => single field value
  | .less => single field (single "$lt" value)
  | .lessEqual => single field (single "$lte" value)
  | .greaterEqual => single field (single "$gte" value)
  | .greater => single field (single "$gt" value)
  | .notEqual => single field (single "$ne" value)
  | .has => single field (single "$elemMatch" (single "$eq" value))

/-- Whether a character has a meaning of its own in a regular expression. -/
def isMeta (c : Char) : Bool := "\\.+*?()|[]\x7b\x7d^$".toList.contains c

/-- A regular expression that matches a text and nothing else. -/
def escapeRegex (text : String) : String :=
  String.ofList <| text.toList.flatMap fun c => if isMeta c then ['\\', c] else [c]

/-- A field that starts with what stands before the wildcard of a literal. -/
def startsWith (field literal : String) : Datum :=
  single field (.regex ("^" ++ escapeRegex (prefixPattern literal)))

/-- A field that ends with what stands after the wildcard of a literal. -/
def endsWith (field literal : String) : Datum :=
  single field (.regex (escapeRegex (suffixPattern literal) ++ "$"))

/-- The name of the backends that build query documents. -/
def backendName : String := "mongo"

/-- The backend of query documents. -/
def backend : Backend Unit NoOperands Datum where
  name := backendName
  conjunction operands := Build.ofExcept (combine "$and" operands)
  disjunction operands := Build.ofExcept (combine "$or" operands)
  negation operand := pure (negate operand)
  prefixSearch field literal := pure (startsWith field literal)
  suffixSearch field literal := pure (endsWith field literal)
  compare comparator field value := pure (relate comparator field value.datum)

end FilterQuery.Document
