import FilterQuery.Token.Basic

/-!
# Filter trees

The tree of a filter: literals, dotted members, restrictions on a field, and groups in parentheses,
combined by conjunction, disjunction and negation.

A tree that was read from text is complete. A tree put together by hand may lack the inside of a
term or the argument of a restriction, and may hold lists with nothing in them.
-/

namespace FilterQuery

/-- The lexical class of a literal. Trees put together by hand may name a class of their own. -/
inductive LiteralKind where
  | integer
  | float
  | boolean
  | duration
  | datetime
  | string
  | text
  | asterisk
  | other (name : String)
deriving DecidableEq, Repr

namespace LiteralKind

/-- The name of a class of literals. -/
def name : LiteralKind → String
  | .integer => "INTEGER"
  | .float => "FLOAT"
  | .boolean => "BOOLEAN"
  | .duration => "DURATION"
  | .datetime => "DATETIME"
  | .string => "STRING"
  | .text => "TEXT"
  | .asterisk => "ASTERISK"
  | .other name => name

/-- The class of literals that has the given name. -/
def ofName : String → LiteralKind
  | "INTEGER" => .integer
  | "FLOAT" => .float
  | "BOOLEAN" => .boolean
  | "DURATION" => .duration
  | "DATETIME" => .datetime
  | "STRING" => .string
  | "TEXT" => .text
  | "ASTERISK" => .asterisk
  | name => .other name

end LiteralKind

/-- A literal as it stands in the text. -/
structure Literal where
  kind : LiteralKind
  text : String
  position : Nat
deriving DecidableEq, Repr

/-- A literal, or a path of them separated by dots. -/
structure Member where
  head : Literal
  fields : List Literal
deriving DecidableEq, Repr

namespace Member

/-- The parts of a member in order. -/
def parts (member : Member) : List Literal := member.head :: member.fields

/-- The path that a member spells. -/
def text (member : Member) : String := ".".intercalate (member.parts.map Literal.text)

/-- A member of a single literal. -/
def ofLiteral (literal : Literal) : Member := ⟨literal, []⟩

/-- The member with one more part at its end. -/
def extend (member : Member) (field : Literal) : Member :=
  { member with fields := member.fields ++ [field] }

end Member

/-- The pieces of a list of characters between separators. -/
def splitList (separator : Char) : List Char → List (List Char)
  | [] => [[]]
  | c :: rest =>
    if c = separator then [] :: splitList separator rest
    else
      match splitList separator rest with
      | [] => [[c]]
      | piece :: pieces => (c :: piece) :: pieces

/-- The pieces of a text between separators; a text without separators is one piece. -/
def splitText (separator : Char) (text : String) : List String :=
  (splitList separator text.toList).map String.ofList

/-- A member of text literals that spells a given path. -/
def Member.ofPath (path : String) : Member :=
  match splitText '.' path with
  | [] => ⟨⟨.text, "", 0⟩, []⟩
  | head :: fields => ⟨⟨.text, head, 0⟩, fields.map (⟨.text, ·, 0⟩)⟩

mutual

/-- A condition with an optional negation before it. -/
inductive Term where
  | mk (negated : Bool) (simple : Simple)

/-- A single condition. `bare` is a value without a comparator, `compare` sets a field against one
value, `compareEach` sets it against every bare value of a group, and `group` is an expression in
parentheses. Groups are lists of sequences of factors of terms.

A comparator is the text of a sign. No filter has an empty one: a condition without a sign is
`bare`, so values of `compare` and `compareEach` with an empty comparator stand for no filter. -/
inductive Simple where
  | missing
  | bare (value : Member)
  | compare (field : Member) (comparator : String) (argument : Option Member)
  | compareEach (field : Member) (comparator : String) (values : List (List (List Term)))
  | group (expression : List (List (List Term)))

end

instance : Inhabited Simple := ⟨.missing⟩

instance : Inhabited Term := ⟨.mk false .missing⟩

/-- Terms of which at least one shall hold. -/
abbrev Factor := List Term

/-- Factors that shall all hold, written one after the other. -/
abbrev Sequence := List Factor

/-- Sequences that shall all hold, joined by an explicit conjunction. -/
abbrev Expression := List Sequence

/-- Whether a term is negated. -/
def Term.negated : Term → Bool
  | .mk negated _ => negated

/-- The condition of a term. -/
def Term.simple : Term → Simple
  | .mk _ simple => simple

end FilterQuery
