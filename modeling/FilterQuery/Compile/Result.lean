/-!
# Results

A result whose type is known by name only, and the question whether it is what a caller wants.
-/

namespace FilterQuery

/-- The type of the predicate that a result holds, and whether it can be shown as text. -/
structure HeldType where
  name : String
  showsText : Bool
deriving DecidableEq, Repr

/-- What a caller wants: one type, anything, or whatever can be shown as text. -/
inductive Wanted where
  | type (name : String)
  | anything
  | showsText
deriving DecidableEq, Repr

/-- The name of what is wanted. -/
def Wanted.name : Wanted → String
  | .type name => name
  | .anything => "interface \x7b\x7d"
  | .showsText => "fmt.Stringer"

/-- Whether a type is wanted. -/
def Wanted.accepts : Wanted → HeldType → Bool
  | .type name, held => held.name = name
  | .anything, _ => true
  | .showsText, held => held.showsText

/-- A result that is not what is wanted. -/
structure TypeMismatch where
  want : String
  held : String
deriving DecidableEq, Repr

/-- The wording of a mismatch. -/
def TypeMismatch.message (mismatch : TypeMismatch) : String :=
  "result holds " ++ mismatch.held ++ ", not " ++ mismatch.want

/-- The type of a result if it is wanted. There may be no result. -/
def extract (held : Option HeldType) (wanted : Wanted) : Except TypeMismatch HeldType :=
  match held with
  | none => .error ⟨wanted.name, "nothing"⟩
  | some type => if wanted.accepts type then .ok type else .error ⟨wanted.name, type.name⟩

end FilterQuery
