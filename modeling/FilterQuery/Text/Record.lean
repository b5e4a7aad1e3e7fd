import FilterQuery.Text.Blank

/-!
# Records of fields

A record is a line of fields with commas between them. A field between quotation marks may hold
commas, line ends and quotation marks, the latter doubled.
-/

namespace FilterQuery.Text

/-- What is wrong with a quotation mark. -/
inductive QuoteFault where
  | bare
  | unbalanced
deriving DecidableEq, Repr

/-- The wording of a fault. -/
def QuoteFault.message : QuoteFault → String
  | .bare => "bare \" in non-quoted-field"
  | .unbalanced => "extraneous or missing \" in quoted-field"

/-- Why a text has no record. The record starts on the line `first`. -/
inductive RecordError where
  | empty
  | quote (fault : QuoteFault) (first line column : Nat)
deriving DecidableEq, Repr

/-- The wording of an error. -/
def RecordError.message : RecordError → String
  | .empty => "EOF"
  | .quote fault first line column =>
    let start := if first = line then "" else "record on line " ++ toString first ++ "; "
    start ++ "parse error on line " ++ toString line ++ ", column " ++ toString column ++ ": " ++
      fault.message

/-- A text in which every line ends with a line feed alone. -/
def plainLineEnds : List Char → List Char
  | [] => []
  | ['\r'] => []
  | '\r' :: '\n' :: rest => '\n' :: plainLineEnds rest
  | c :: rest => c :: plainLineEnds rest

/-- Where the reader stands: before a field, in a field without quotation marks, in a field between
quotation marks, or after a quotation mark that may end it. -/
inductive RecordPlace where
  | start
  | plain
  | quoted
  | closing
deriving DecidableEq, Repr

/-- The fields of a record. The characters of the field so far stand in reverse. -/
def readFields (first : Nat) (place : RecordPlace) (line column : Nat) (field : List Char) :
    List Char → Except RecordError (List String)
  | [] =>
    match place with
    | .quoted => .error (.quote .unbalanced first line column)
    | _ => .ok [String.ofList field.reverse]
  | c :: rest =>
    let next := column + c.utf8Size
    match place with
    | .quoted =>
      if c = '"' then readFields first .closing line next field rest
      else if c = '\n' ∧ rest ≠ [] then readFields first .quoted (line + 1) 1 (c :: field) rest
      else readFields first .quoted line next (c :: field) rest
    | .closing =>
      if c = '"' then readFields first .quoted line next (c :: field) rest
      else if c = ',' then
        (readFields first .start line next [] rest).map (String.ofList field.reverse :: ·)
      else if c = '\n' then .ok [String.ofList field.reverse]
      else .error (.quote .unbalanced first line (column - 1))
    | .start | .plain =>
      if c = '"' then
        if place = .start then readFields first .quoted line next field rest
        else .error (.quote .bare first line column)
      else if c = ',' then
        (readFields first .start line next [] rest).map (String.ofList field.reverse :: ·)
      else if c = '\n' then .ok [String.ofList field.reverse]
      else readFields first .plain line next (c :: field) rest

/-- The first record of a text. Empty lines before it are skipped. -/
def readRecord (text : String) : Except RecordError (List String) :=
  let lines := plainLineEnds text.toList
  let record := lines.dropWhile (· == '\n')
  let first := (lines.takeWhile (· == '\n')).length + 1
  if record.isEmpty then .error .empty else readFields first .start first 1 [] record

/-- Whether a field has to stand between quotation marks. -/
def needsQuotes (field : List Char) : Bool :=
  match field with
  | [] => false
  | c :: _ =>
    isSpace c || field == ['\\', '.'] ||
      field.any fun d => d == ',' || d == '"' || d == '\n' || d == '\r'

/-- A field as it stands in a record. -/
def recordField (field : String) : List Char :=
  let characters := field.toList
  if needsQuotes characters then
    '"' :: characters.flatMap (fun c => if c = '"' then ['"', '"'] else [c]) ++ ['"']
  else characters

/-- A record of some fields. -/
def recordText (fields : List String) : String :=
  ",".intercalate (fields.map fun field => String.ofList (recordField field))

end FilterQuery.Text
