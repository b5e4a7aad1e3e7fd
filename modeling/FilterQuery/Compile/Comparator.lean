import FilterQuery.Text.Quoted

/-!
# Comparators

The seven relations between a field and a value, and the patterns of texts with a wildcard at one
end.
-/

namespace FilterQuery

/-- A relation between a field and a value. `has` is membership in a collection. -/
inductive Comparator where
  | equal
  | less
  | lessEqual
  | greaterEqual
  | greater
  | notEqual
  | has
deriving DecidableEq, Repr

namespace Comparator

/-- The sign of a comparator. -/
def sign : Comparator → String
  | .equal => "="
  | .less => "<"
  | .lessEqual => "<="
  | .greaterEqual => ">="
  | .greater => ">"
  | .notEqual => "!="
  | .has => ":"

/-- The comparator with a sign. -/
def ofSign? : String → Option Comparator
  | "=" => some .equal
  | "<" => some .less
  | "<=" => some .lessEqual
  | ">=" => some .greaterEqual
  | ">" => some .greater
  | "!=" => some .notEqual
  | ":" => some .has
  | _ => none

end Comparator

/-- The complaint about a sign that is no comparator. -/
def unsupportedComparatorMessage (sign : String) : String :=
  "unsupported comparator " ++ Text.quote sign

/-- A text without the one wildcard at its end. -/
def prefixPattern (literal : String) : String :=
  match literal.toList.reverse with
  | '*' :: rest => String.ofList rest.reverse
  | _ => literal

/-- A text without the one wildcard at its start. -/
def suffixPattern (literal : String) : String :=
  match literal.toList with
  | '*' :: rest => String.ofList rest
  | _ => literal

end FilterQuery
