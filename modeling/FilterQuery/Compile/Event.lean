import FilterQuery.Compile.Basic

/-!
# Events

What a compilation reports about itself: the filter that was compiled or that failed, and fields
that a document type does not know.
-/

namespace FilterQuery

/-- Something worth reporting. A filter tree with missing parts has no text. -/
inductive Event where
  | parsingFailed (filter : String) (error : String)
  | compilationFailed (filter : Option String) (error : String)
  | compiled (filter : Option String)
  | unknownField (field : String) (kind : ValueKind)
deriving DecidableEq, Repr

namespace Event

/-- The wording of an event. -/
def message : Event → String
  | .parsingFailed .. => "filter parsing failed"
  | .compilationFailed .. => "filter compilation failed"
  | .compiled _ => "filter compiled"
  | .unknownField .. => "field is not part of the document type, value left as resolved"

/-- A detail that may be missing. -/
def detail (name : String) (value : Option String) : List (String × String) :=
  value.toList.map (name, ·)

/-- The details of an event, by name. Events about a filter name the backend. -/
def details (backend : String) : Event → List (String × String)
  | .parsingFailed filter error => [("backend", backend), ("filter", filter), ("error", error)]
  | .compilationFailed filter error =>
    ("backend", backend) :: detail "filter" filter ++ [("error", error)]
  | .compiled filter => ("backend", backend) :: detail "filter" filter
  | .unknownField field kind => [("field", field), ("kind", kind.name)]

end Event

section

variable {Failure Predicate : Type}

/-- What compiling a tree reports. A tree with nothing in it is not worth a report, and a
compilation that breaks off makes none. -/
def treeEvents (describe : Failure → String) (expression : Expression)
    (outcome : Except (CompileError Failure) Predicate) : List Event :=
  if expression.isEmpty then []
  else
    match outcome with
    | .ok _ => [.compiled expression.render?]
    | .error (.nestedFragment _) => []
    | .error error => [.compilationFailed expression.render? (error.message describe)]

/-- What compiling a text reports. -/
def textEvents (describe : Failure → String) (text : String)
    (outcome : Except (CompileError Failure) Predicate) : List Event :=
  match parse text with
  | .error error => [.parsingFailed text error.message]
  | .ok expression => treeEvents describe expression outcome

end

end FilterQuery
