import FilterQuery.Instant.Reading
import FilterQuery.Tree.Basic
import FilterQuery.Value.Basic

/-!
# Resolving literals

The value that a literal stands for. Integers take the narrowest width that holds them. A dotted
member is text, whatever its parts look like.
-/

namespace FilterQuery

/-- Why a literal has no value. A number fault names the text that was read as a number. -/
inductive LiteralFault where
  | integer (text : String) (fault : NumberFault)
  | float (text : String) (fault : NumberFault)
  | notBoolean
  | datetime (error : DatetimeError)
  | unknownKind (name : String)
deriving DecidableEq, Repr

/-- The wording of a literal fault. -/
def LiteralFault.message : LiteralFault → String
  | .integer text fault => "strconv.ParseInt: parsing " ++ Text.quote text ++ ": " ++ fault.message
  | .float text fault => "strconv.ParseFloat: parsing " ++ Text.quote text ++ ": " ++ fault.message
  | .notBoolean => "expected true or false"
  | .datetime error => error.message
  | .unknownKind name => "unknown literal kind " ++ Text.quote name

/-- A literal that has no value, with the reason. -/
structure LiteralError where
  text : String
  kind : LiteralKind
  fault : LiteralFault
deriving DecidableEq, Repr

/-- The wording of a literal error. -/
def LiteralError.message (error : LiteralError) : String :=
  "cannot parse " ++ Text.quote error.text ++ " as " ++ error.kind.name ++ ": " ++
    error.fault.message

/-- The integer that a text spells. It is read with thirty-two bits, and once more with sixty-four if
it is out of their range. -/
def Content.readInteger (text : String) : Except NumberFault Content :=
  match Number.readInteger 32 text with
  | .ok n => .ok (.integer32 (Int32.ofInt n))
  | .error .malformed => .error .malformed
  | .error .outOfRange =>
    match Number.readInteger 64 text with
    | .ok n => .ok (.integer64 (Int64.ofInt n))
    | .error fault => .error fault

/-- A text without the letter `s` at its end. -/
def stripSeconds (text : String) : String :=
  match text.toList.reverse with
  | 's' :: rest => String.ofList rest.reverse
  | _ => text

/-- A text without one layer of double quotation marks around it. -/
def stripQuotes (text : String) : String :=
  match text.toList with
  | '"' :: rest =>
    match rest.reverse with
    | '"' :: inner => String.ofList inner.reverse
    | _ => text
  | _ => text

/-- The content that a text of a given class stands for. -/
def LiteralKind.content (kind : LiteralKind) (text : String) : Except LiteralFault Content :=
  match kind with
  | .integer =>
    match Content.readInteger text with
    | .ok content => .ok content
    | .error fault => .error (.integer text fault)
  | .float =>
    match Number.readFloat text with
    | .ok x => .ok (.float x)
    | .error fault => .error (.float text fault)
  | .boolean =>
    if text = "true" then .ok (.boolean true)
    else if text = "false" then .ok (.boolean false)
    else .error .notBoolean
  | .duration =>
    match Number.readFloat (stripSeconds text) with
    | .ok seconds => .ok (.duration (seconds.scale 1000 1))
    | .error fault => .error (.float (stripSeconds text) fault)
  | .datetime =>
    match Instant.read text with
    | .ok instant => .ok (.instant instant)
    | .error error => .error (.datetime error)
  | .string => .ok (.string (stripQuotes text))
  | .asterisk => .ok (.wildcard text)
  | .text => .ok (.text text)
  | .other name => .error (.unknownKind name)

/-- The value of a literal, written as the literal is. -/
def Literal.resolve (literal : Literal) : Except LiteralError Value :=
  match literal.kind.content literal.text with
  | .ok content => .ok ⟨literal.text, content⟩
  | .error fault => .error ⟨literal.text, literal.kind, fault⟩

/-- The value of a member. -/
def Member.resolve (member : Member) : Except LiteralError Value :=
  if member.fields.isEmpty then member.head.resolve
  else .ok (Value.ofContent (.text member.text))

end FilterQuery
