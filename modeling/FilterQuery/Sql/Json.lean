import FilterQuery.Json.Text
import FilterQuery.Number.Decimal
import FilterQuery.Sql.Clause

/-!
# Clauses as JSON

A clause as one JSON object with its text and its arguments in the order of their names.
-/

namespace FilterQuery.Sql

/-- Numbers are positional from a millionth to below a thousand quintillions. -/
def jsonLayout : DecimalLayout := ⟨-6, 21, 'e', 1, false⟩

/-- Why an argument has no JSON form. -/
inductive JsonFault where
  | number (x : Binary64)
  | year
deriving DecidableEq

/-- The wording of a fault. -/
def JsonFault.message : JsonFault → String
  | .number x => "json: unsupported value: " ++ x.text
  | .year =>
    "json: error calling MarshalJSON for type *time.Time: year outside of range [0,9999]"

/-- A text as a JSON string. -/
def jsonText (text : String) : String := Json.quote true text

/-- An argument as JSON. Only single values are ever bound. -/
def argumentJson : Datum → Except JsonFault String
  | .integer _ n => .ok (toString n)
  | .float _ x =>
    match jsonLayout.finiteText? x with
    | some text => .ok text
    | none => .error (.number x)
  | .boolean _ b => .ok (if b then "true" else "false")
  | .string _ s => .ok (jsonText s)
  | .instant t =>
    let year := t.date.year
    if 0 ≤ year ∧ year ≤ 9999 then .ok (jsonText t.text) else .error .year
  | _ => .ok "null"

/-- Arguments as JSON, up to the first that has no JSON form. -/
def argumentsJson : Arguments → Except JsonFault (List (String × String))
  | [] => .ok []
  | (name, value) :: rest => do
    let text ← argumentJson value
    let others ← argumentsJson rest
    pure ((name, text) :: others)

/-- A clause as JSON. -/
def Clause.json (clause : Clause) : Except JsonFault String := do
  let arguments ← argumentsJson clause.arguments.sorted
  pure (Json.object true [("sql", jsonText clause.text), ("args", Json.object true arguments)])

end FilterQuery.Sql
