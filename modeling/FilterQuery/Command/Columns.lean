import FilterQuery.Json.Value
import FilterQuery.Number.Decimal
import FilterQuery.Text.LetterCase
import FilterQuery.Text.Record

/-!
# Column mappings

A column mapping gives fields the names of columns. It is configured by flags, by a variable of the
environment or by a configuration file, and each of them has a form of its own.
-/

namespace FilterQuery.Command

/-- The columns of fields. The first entry of a field decides. -/
abbrev Columns := List (String × String)

/-- Why the value of a column flag is no mapping. -/
inductive ColumnFault where
  | unpaired (text : String)
  | record (error : Text.RecordError)
deriving DecidableEq, Repr

/-- The wording of a fault. -/
def ColumnFault.message : ColumnFault → String
  | .unpaired text => text ++ " must be formatted as key=value"
  | .record error => error.message

namespace Columns

/-- Gives a field a column, in place of the one it had before. -/
def put (columns : Columns) (field column : String) : Columns :=
  match columns with
  | [] => [(field, column)]
  | (other, old) :: rest =>
    if other = field then (field, column) :: rest else (other, old) :: put rest field column

/-- All the entries of two mappings; the second decides on fields that both have. -/
def merge (first second : Columns) : Columns :=
  second.foldl (fun columns (field, column) => columns.put field column) first

/-- The two sides of the first equals sign of a text. -/
def splitPair (text : String) : Except ColumnFault (String × String) :=
  let characters := text.toList
  match characters.dropWhile (· != '=') with
  | [] => .error (.unpaired text)
  | _ :: column => .ok (String.ofList (characters.takeWhile (· != '=')), String.ofList column)

/-- The mapping of several pairs; later pairs decide. -/
def ofPairs : List String → Except ColumnFault Columns
  | [] => .ok []
  | text :: rest => do
    let (field, column) ← splitPair text
    let others ← ofPairs rest
    pure (merge [(field, column)] others)

/-- A list of characters without those of a kind at its two ends. -/
def trim (drop : Char → Bool) (text : String) : String :=
  String.ofList ((text.toList.dropWhile drop).reverse.dropWhile drop).reverse

/-- The mapping of one column flag: a single pair, or a record of pairs. -/
def ofFlag (value : String) : Except ColumnFault Columns :=
  match value.toList.count '=' with
  | 0 => .error (.unpaired value)
  | 1 => ofPairs [trim (· == '"') value]
  | _ =>
    match Text.readRecord value with
    | .ok pairs => ofPairs pairs
    | .error error => .error (.record error)

/-- A mapping as one text: a record of pairs in brackets. -/
def text (columns : Columns) : String :=
  let record := Text.recordText (columns.map fun (field, column) => field ++ "=" ++ column)
  "[" ++ String.ofList (Text.trimSpace record.toList) ++ "]"

/-- The mapping of such a text; none if it has no such form. -/
def ofText (text : String) : Columns :=
  let record := trim (fun c => c == '[' || c == ']') text
  if record.isEmpty then []
  else
    match Text.readRecord record with
    | .ok pairs => (ofPairs pairs).toOption.getD []
    | .error _ => []

/-- The mapping of a JSON object in a text. Values that are no strings count as empty. -/
def ofJsonText (text : String) : Columns :=
  match JsonValue.read? text with
  | some (.object fields) =>
    fields.reverse.map fun (field, value) =>
      match value with
      | .string column => (field, column)
      | _ => (field, "")
  | _ => []

end Columns

/-- A configured value as text. -/
def settingText : JsonValue → String
  | .string s => s
  | .number x => (DecimalLayout.unscaled.finiteText? x).getD ""
  | .boolean b => if b then "true" else "false"
  | .null | .array _ | .object _ => ""

/-- Fields with their keys in lower case, those first that decide: of equal keys the last, and
before them those that were not in lower case. -/
def lowerKeys (fields : List (String × JsonValue)) : List (String × JsonValue) :=
  let lowered := fields.reverse.map fun (key, value) => (key, Text.lower key, value)
  let (changed, kept) := lowered.partition fun (key, lower, _) => key != lower
  (changed ++ kept).map Prod.snd

/-- The mapping of a configured value. -/
def Columns.ofSetting : JsonValue → Columns
  | .object fields => (lowerKeys fields).map fun (field, value) => (field, settingText value)
  | .string text => Columns.ofJsonText text
  | _ => []

end FilterQuery.Command
