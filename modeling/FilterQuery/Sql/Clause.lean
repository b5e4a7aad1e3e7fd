import FilterQuery.Compile.Backend
import FilterQuery.Tree.Basic

/-!
# SQL clauses

A condition of a query as text with named arguments. Operands that bind more loosely than the
operator around them stand in parentheses. Arguments are numbered in the order in which they are
bound.
-/

namespace FilterQuery.Sql

/-- How tightly the outermost operator of a clause binds, from loosely to tightly. Nothing is known
of a clause that was written by hand. -/
inductive Strength where
  | unknown
  | disjunction
  | conjunction
  | negation
  | comparison
  | like
deriving DecidableEq, Repr

/-- The rank of a strength. -/
def Strength.rank : Strength → Nat
  | .unknown => 0
  | .disjunction => 1
  | .conjunction => 2
  | .negation => 3
  | .comparison => 4
  | .like => 5

/-- Arguments by name. -/
abbrev Arguments := List (String × Datum)

namespace Arguments

/-- Binds a name, in place of what it was bound to before. -/
def bind (arguments : Arguments) (name : String) (value : Datum) : Arguments :=
  match arguments with
  | [] => [(name, value)]
  | (other, old) :: rest =>
    if other = name then (name, value) :: rest else (other, old) :: bind rest name value

/-- All the arguments of two lists; the second list decides on names that both bind. -/
def merge (first second : Arguments) : Arguments :=
  second.foldl (fun arguments (name, value) => arguments.bind name value) first

/-- The arguments in the order of their names. -/
def sorted (arguments : Arguments) : Arguments :=
  arguments.mergeSort fun first second => decide (first.1 ≤ second.1)

end Arguments

/-- A condition with its arguments. -/
structure Clause where
  text : String
  arguments : Arguments
  strength : Strength

namespace Clause

/-- A condition written by hand. -/
def ofText (text : String) : Clause := ⟨text, [], .unknown⟩

/-- The text of an operand, in parentheses if it binds more loosely than the operator. -/
def operandText (outer : Strength) (clause : Clause) : String :=
  if clause.strength.rank < outer.rank then "(" ++ clause.text ++ ")" else clause.text

/-- All the arguments of several clauses. -/
def mergeArguments (clauses : List Clause) : Arguments :=
  clauses.foldl (fun arguments clause => arguments.merge clause.arguments) []

/-- The operands of an operator, joined by it. -/
def join (operator : String) (strength : Strength) (operands : List Clause) :
    Except NoOperands Clause :=
  if operands.isEmpty then .error ⟨operator⟩
  else .ok
    { text := (" " ++ operator ++ " ").intercalate (operands.map (operandText strength))
      arguments := mergeArguments operands
      strength := strength }

/-- The negation of a clause. -/
def negate (clause : Clause) : Clause :=
  { text := "NOT " ++ clause.operandText .negation
    arguments := mergeArguments [clause]
    strength := .negation }

end Clause

/-- One part of a column name as a quoted identifier: without zero characters and with every
quotation mark doubled. -/
def quotePart (part : String) : String :=
  let body := (part.toList.filter (· != '\x00')).flatMap fun c =>
    if c = '"' then ['"', '"'] else [c]
  String.ofList ('"' :: body ++ ['"'])

/-- A column name with its qualifiers, which dots separate. -/
def quoteColumn (column : String) : String :=
  ".".intercalate ((splitText '.' column).map quotePart)

/-- A text whose characters a `LIKE` pattern takes literally. -/
def escapeLike (text : String) : String :=
  String.ofList <| text.toList.flatMap fun c =>
    if c = '\\' ∨ c = '%' ∨ c = '_' then ['\\', c] else [c]

/-- The names of columns by field path, and the first part of argument names. -/
structure Options where
  columns : List (String × String) := []
  placeholder : String := "p"

/-- The quoted column of a field. -/
def Options.column (options : Options) (field : String) : String :=
  quoteColumn ((options.columns.lookup field).getD field)

/-- The number of arguments that have been bound. -/
abbrev Counter := Nat

/-- Binds the next argument and returns its name. -/
def bindNext (options : Options) : Build Counter NoOperands String := do
  let count ← get
  set (count + 1)
  pure (options.placeholder ++ toString (count + 1))

/-- The clause that compares a field with the next argument. -/
def relateColumn (options : Options) (field : String) (value : Datum) (strength : Strength)
    (text : (column name : String) → String) : Build Counter NoOperands Clause := do
  let name ← bindNext options
  pure ⟨text (options.column field) ("@" ++ name), [(name, value)], strength⟩

/-- The operator of a comparator. Membership is equality with some element. -/
def operator : Comparator → String
  | .equal => "="
  | .less => "<"
  | .lessEqual => "<="
  | .greaterEqual => ">="
  | .greater => ">"
  | .notEqual => "<>"
  | .has => "="

/-- A comparison of a column with an argument. -/
def comparisonText : Comparator → (column name : String) → String
  | .has, column, name => name ++ " = ANY(" ++ column ++ ")"
  | comparator, column, name => column ++ " " ++ operator comparator ++ " " ++ name

/-- A comparison of a column with a pattern. -/
def likeText (column name : String) : String := column ++ " LIKE " ++ name

/-- The backend of clauses. -/
def backend (options : Options) : Backend Counter NoOperands Clause where
  name := "postgresql"
  conjunction operands := Build.ofExcept (Clause.join "AND" .conjunction operands)
  disjunction operands := Build.ofExcept (Clause.join "OR" .disjunction operands)
  negation operand := pure operand.negate
  prefixSearch field literal :=
    relateColumn options field (.string "string" (escapeLike (prefixPattern literal) ++ "%")) .like
      likeText
  suffixSearch field literal :=
    relateColumn options field (.string "string" ("%" ++ escapeLike (suffixPattern literal))) .like
      likeText
  compare comparator field value :=
    relateColumn options field value.datum .comparison (comparisonText comparator)

end FilterQuery.Sql
