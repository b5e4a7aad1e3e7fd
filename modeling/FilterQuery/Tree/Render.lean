import FilterQuery.Tree.Basic

/-!
# Written form of filter trees

The text of a tree, with single blanks between its parts and `NOT` for every negation. A tree with
a missing part has no written form.
-/

namespace FilterQuery

mutual

/-- The text of a term. -/
def Term.render? : Term → Option String
  | .mk true simple => simple.render?.map ("NOT " ++ ·)
  | .mk false simple => simple.render?

/-- The text of a condition. -/
def Simple.render? : Simple → Option String
  | .missing => none
  | .bare value => some value.text
  | .compare _ _ none => none
  | .compare field comparator (some argument) =>
    some (field.text ++ " " ++ comparator ++ " " ++ argument.text)
  | .compareEach field comparator values =>
    (Expression.renderParts? values).map fun parts =>
      field.text ++ " " ++ comparator ++ " (" ++ " AND ".intercalate parts ++ ")"
  | .group expression =>
    (Expression.renderParts? expression).map fun parts => "(" ++ " AND ".intercalate parts ++ ")"

/-- The texts of the sequences of an expression. -/
def Expression.renderParts? : List (List (List Term)) → Option (List String)
  | [] => some []
  | sequence :: rest => do
    let factors ← Sequence.renderParts? sequence
    let parts ← Expression.renderParts? rest
    pure (" ".intercalate factors :: parts)

/-- The texts of the factors of a sequence. -/
def Sequence.renderParts? : List (List Term) → Option (List String)
  | [] => some []
  | factor :: rest => do
    let terms ← Factor.renderParts? factor
    let parts ← Sequence.renderParts? rest
    pure (" OR ".intercalate terms :: parts)

/-- The texts of the terms of a factor. -/
def Factor.renderParts? : List Term → Option (List String)
  | [] => some []
  | term :: rest => do
    let text ← term.render?
    let parts ← Factor.renderParts? rest
    pure (text :: parts)

end

/-- The text of an expression. -/
def Expression.render? (expression : Expression) : Option String :=
  (Expression.renderParts? expression).map (" AND ".intercalate ·)

end FilterQuery
