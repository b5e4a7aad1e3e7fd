import FilterQuery.Compile.Comparator
import FilterQuery.Value.Basic

/-!
# Backends

A backend builds predicates of its own kind. It may keep a state, which a failed step leaves as it
was when the step failed, and it may refuse to build a predicate.
-/

namespace FilterQuery

/-- A step that may fail and that changes a state, also when it fails. -/
abbrev Build (State Failure : Type) := ExceptT Failure (StateM State)

/-- A step that keeps the state. -/
def Build.ofExcept {State Failure Result : Type} (outcome : Except Failure Result) :
    Build State Failure Result :=
  ExceptT.mk (pure outcome)

/-- The operations that build predicates. Searches receive the literal with its wildcard. -/
structure Backend (State Failure Predicate : Type) where
  name : String
  conjunction : List Predicate → Build State Failure Predicate
  disjunction : List Predicate → Build State Failure Predicate
  negation : Predicate → Build State Failure Predicate
  prefixSearch : (field literal : String) → Build State Failure Predicate
  suffixSearch : (field literal : String) → Build State Failure Predicate
  compare : Comparator → (field : String) → Value → Build State Failure Predicate

/-- A conjunction or disjunction of nothing, which has no written form. -/
structure NoOperands where
  operator : String
deriving DecidableEq, Repr

/-- The wording of the failure. -/
def NoOperands.message (failure : NoOperands) : String :=
  failure.operator ++ " needs at least one operand"

/-- What an equality with a text asks for: a text that starts or ends in some way, or the text
itself. -/
inductive WildcardForm where
  | startsWith (literal : String)
  | endsWith (literal : String)
  | plain
deriving DecidableEq, Repr

/-- A text asks for a search if it has exactly one wildcard, at its start or its end, and more than
the wildcard. -/
def WildcardForm.ofText (text : String) : WildcardForm :=
  let characters := text.toList
  if 1 < characters.length ∧ characters.count '*' = 1 then
    if characters.getLast? = some '*' then .startsWith text
    else if characters.head? = some '*' then .endsWith text
    else .plain
  else .plain

/-- What an equality with a value asks for. Only strings and bare text may ask for a search. -/
def Value.wildcardForm (value : Value) : WildcardForm :=
  match value.content with
  | .string s | .text s => .ofText s
  | _ => .plain

/-- Builds the predicate that sets a field against a value. -/
def Backend.relate {State Failure Predicate : Type} (backend : Backend State Failure Predicate)
    (comparator : Comparator) (field : String) (value : Value) : Build State Failure Predicate :=
  match comparator, value.wildcardForm with
  | .equal, .startsWith literal => backend.prefixSearch field literal
  | .equal, .endsWith literal => backend.suffixSearch field literal
  | _, _ => backend.compare comparator field value

end FilterQuery
