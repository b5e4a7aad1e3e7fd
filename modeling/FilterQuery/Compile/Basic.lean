import FilterQuery.Compile.Backend
import FilterQuery.Tree.Parser
import FilterQuery.Tree.Render
import FilterQuery.Value.Resolve

/-!
# Compiling filters

A filter is turned into a predicate through a backend: sequences and factors are joined by
conjunction, terms by disjunction, and a group compared with a field applies the comparison to each
of its bare values. A list of one predicate is that predicate. The first failure, from left to
right, ends the compilation.
-/

namespace FilterQuery

/-- Why a filter has no predicate. -/
inductive CompileError (Failure : Type) where
  | parse (error : ParseError)
  | empty
  | missingNode
  | missingArgument
  | unsupportedComparator (sign : String)
  | noComparator (field : String)
  | nestedRestriction (field restriction : String)
  /-- A restriction in a group has a comparator, but no argument to put it in words with. This is no
  error that a compilation returns: it breaks off. -/
  | nestedFragment (field : String)
  | literal (field : String) (error : LiteralError)
  | comparison (field : String) (comparator : Comparator) (value : String) (failure : Failure)
  | combination (failure : Failure)
deriving DecidableEq

namespace CompileError

/-- The reason why a restriction is not supported, with its field. -/
def restriction? {Failure : Type} : CompileError Failure → Option (String × String)
  | .noComparator field => some (field, "restriction has no comparator")
  | .nestedRestriction field restriction =>
    some (field, "composite argument contains restriction " ++ restriction)
  | _ => none

/-- The wording of a compile error, given the wording of the backend's failures. A compilation that
breaks off has that of the fault behind it. -/
def message {Failure : Type} (describe : Failure → String) (error : CompileError Failure) :
    String :=
  match error with
  | .parse error => "parse filter: " ++ error.message
  | .empty => "empty filter"
  | .missingNode => "unexpected node <nil>"
  | .missingArgument => "unexpected argument <nil>"
  | .unsupportedComparator sign => unsupportedComparatorMessage sign
  | .noComparator field | .nestedRestriction field _ =>
    "unsupported restriction on " ++ Text.quote field ++ ": " ++
      (error.restriction?.map Prod.snd).getD ""
  | .nestedFragment _ => "runtime error: invalid memory address or nil pointer dereference"
  | .literal field error => "restriction on " ++ Text.quote field ++ ": " ++ error.message
  | .comparison field comparator value failure =>
    field ++ " " ++ comparator.sign ++ " " ++ value ++ ": " ++ describe failure
  | .combination failure => describe failure

end CompileError

/-- Where a condition stands: in the filter itself, or in the group that a field is compared
with. -/
inductive Context where
  | filter
  | argument (field : String) (comparator : Comparator)

section

variable {State Failure Predicate : Type}

/-- A step that fails at once. -/
def fail (error : CompileError Failure) : Build State (CompileError Failure) Predicate :=
  throw error

/-- Compares a field with the value of a member. -/
def compareMember (backend : Backend State Failure Predicate) (field : String)
    (comparator : Comparator) (member : Member) : Build State (CompileError Failure) Predicate :=
  match member.resolve with
  | .error error => fail (.literal field error)
  | .ok value =>
    ExceptT.adapt (CompileError.comparison field comparator value.raw)
      (backend.relate comparator field value)

/-- Joins predicates, a single one being itself. -/
def joinPredicates (combine : List Predicate → Build State Failure Predicate) :
    List Predicate → Build State (CompileError Failure) Predicate
  | [predicate] => pure predicate
  | predicates => ExceptT.adapt CompileError.combination (combine predicates)

/-- A restriction inside the group that a field is compared with is an error, which quotes it. -/
def failNested (field : String) (restriction : Simple) :
    Build State (CompileError Failure) Predicate :=
  match restriction.render? with
  | some text => fail (.nestedRestriction field text)
  | none => fail (.nestedFragment field)

mutual

/-- The predicate of a term. -/
def Term.compile (backend : Backend State Failure Predicate) (context : Context) :
    Term → Build State (CompileError Failure) Predicate
  | .mk negated simple => do
    let predicate ← simple.compile backend context
    if negated then ExceptT.adapt CompileError.combination (backend.negation predicate)
    else pure predicate

/-- The predicate of a condition. -/
def Simple.compile (backend : Backend State Failure Predicate) (context : Context) :
    Simple → Build State (CompileError Failure) Predicate
  | .missing => fail .missingNode
  | .bare value =>
    match context with
    | .filter => fail (.noComparator value.text)
    | .argument field comparator => compareMember backend field comparator value
  | .compare field sign argument =>
    match context with
    | .filter =>
      match Comparator.ofSign? sign, argument with
      | none, _ => fail (.unsupportedComparator sign)
      | some _, none => fail .missingArgument
      | some comparator, some member => compareMember backend field.text comparator member
    | .argument outer _ => failNested outer (.compare field sign argument)
  | .compareEach field sign values =>
    match context with
    | .filter =>
      match Comparator.ofSign? sign with
      | none => fail (.unsupportedComparator sign)
      | some comparator => do
        let parts ← Expression.compileParts backend (.argument field.text comparator) values
        joinPredicates backend.conjunction parts
    | .argument outer _ => failNested outer (.compareEach field sign values)
  | .group expression => do
    let parts ← Expression.compileParts backend context expression
    joinPredicates backend.conjunction parts

/-- The predicates of the sequences of an expression. -/
def Expression.compileParts (backend : Backend State Failure Predicate) (context : Context) :
    List (List (List Term)) → Build State (CompileError Failure) (List Predicate)
  | [] => pure []
  | sequence :: rest => do
    let parts ← Sequence.compileParts backend context sequence
    let predicate ← joinPredicates backend.conjunction parts
    let predicates ← Expression.compileParts backend context rest
    pure (predicate :: predicates)

/-- The predicates of the factors of a sequence. -/
def Sequence.compileParts (backend : Backend State Failure Predicate) (context : Context) :
    List (List Term) → Build State (CompileError Failure) (List Predicate)
  | [] => pure []
  | factor :: rest => do
    let parts ← Factor.compileParts backend context factor
    let predicate ← joinPredicates backend.disjunction parts
    let predicates ← Sequence.compileParts backend context rest
    pure (predicate :: predicates)

/-- The predicates of the terms of a factor. -/
def Factor.compileParts (backend : Backend State Failure Predicate) (context : Context) :
    List Term → Build State (CompileError Failure) (List Predicate)
  | [] => pure []
  | term :: rest => do
    let predicate ← term.compile backend context
    let predicates ← Factor.compileParts backend context rest
    pure (predicate :: predicates)

end

/-- The predicate of an expression in a context. -/
def Expression.compileIn (backend : Backend State Failure Predicate) (context : Context)
    (expression : Expression) : Build State (CompileError Failure) Predicate := do
  let parts ← Expression.compileParts backend context expression
  joinPredicates backend.conjunction parts

/-- The predicate of a filter tree. -/
def compileTree (backend : Backend State Failure Predicate) (expression : Expression) :
    Build State (CompileError Failure) Predicate :=
  if expression.isEmpty then fail .empty else expression.compileIn backend .filter

/-- The predicate of a filter text. -/
def compileText (backend : Backend State Failure Predicate) (text : String) :
    Build State (CompileError Failure) Predicate :=
  match parse text with
  | .error error => fail (.parse error)
  | .ok expression => compileTree backend expression

end

end FilterQuery
