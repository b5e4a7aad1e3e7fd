import FilterQuery.Compile.Backend

/-!
# Predicates as terms

The backend whose predicates are the calls that build them. It refuses one kind of call, if it is
told to.
-/

namespace FilterQuery

/-- A predicate as the tree of calls that builds it. -/
inductive Predicate where
  | and (operands : List Predicate)
  | or (operands : List Predicate)
  | not (operand : Predicate)
  | startsWith (field literal : String)
  | endsWith (field literal : String)
  | compare (comparator : Comparator) (field : String) (value : Value)

namespace Predicate

/-- The name of the comparison that a comparator stands for. -/
def comparisonName : Comparator → String
  | .equal => "Equality"
  | .less => "LessThan"
  | .lessEqual => "LessThanEquals"
  | .greaterEqual => "GreaterThanEquals"
  | .greater => "GreaterThan"
  | .notEqual => "NotEquals"
  | .has => "Has"

mutual

/-- The text of a predicate. -/
def render : Predicate → String
  | .and operands => "And[" ++ ", ".intercalate (renderAll operands) ++ "]"
  | .or operands => "Or[" ++ ", ".intercalate (renderAll operands) ++ "]"
  | .not operand => "Not(" ++ operand.render ++ ")"
  | .startsWith field literal =>
    "PrefixSearch(" ++ field ++ "," ++ literal ++ "," ++ prefixPattern literal ++ ")"
  | .endsWith field literal =>
    "SuffixSearch(" ++ field ++ "," ++ literal ++ "," ++ suffixPattern literal ++ ")"
  | .compare comparator field value =>
    comparisonName comparator ++ "(" ++ field ++ "," ++ value.kind.name ++ ":" ++ value.raw ++ ")"

/-- The texts of several predicates. -/
def renderAll : List Predicate → List String
  | [] => []
  | predicate :: rest => predicate.render :: renderAll rest

end

/-- The refusal to answer a kind of call. -/
structure Refusal where
  call : String
deriving DecidableEq, Repr

/-- The wording of a refusal. -/
def Refusal.message (refusal : Refusal) : String := refusal.call ++ " failed"

/-- A call that is answered unless it is the refused one. -/
def answer {State : Type} (refused : Option String) (call : String) (predicate : Predicate) :
    Build State Refusal Predicate :=
  if refused = some call then throw ⟨call⟩ else pure predicate

/-- The backend of terms. -/
def backend (name : String) (refused : Option String) : Backend Unit Refusal Predicate where
  name := name
  conjunction operands := answer refused "And" (.and operands)
  disjunction operands := answer refused "Or" (.or operands)
  negation operand := answer refused "Not" (.not operand)
  prefixSearch field literal := answer refused "PrefixSearch" (.startsWith field literal)
  suffixSearch field literal := answer refused "SuffixSearch" (.endsWith field literal)
  compare comparator field value :=
    answer refused (comparisonName comparator) (.compare comparator field value)

end Predicate

end FilterQuery
